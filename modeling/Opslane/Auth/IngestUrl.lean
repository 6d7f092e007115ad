import Opslane.Lib.GoStrings
import Opslane.Lib.UrlHosts

/-!
# The ingest URL of a key

The canonical form of the origin that a source-map key names: a lower-case scheme and host, no
default port, nothing behind them. A host is written as it was decoded, so a percent sign in it
is read as an escape the next time, and a host with a colon is put in brackets, where only an
address may stand.
-/

namespace Opslane.Auth

open NetUrl (Url)
open GoStrings (toLower)

/-- The reason tokens of the key codec, with what they tell. -/
inductive KeyError where
  | urlTooLong
  | urlInvalid
  | urlScheme
  | urlNotOrigin
  | urlHostAscii
  | urlPort
  | urlNotCanonical
  | emptyPayload
  | badBase64
  | badJson
  | duplicateField (field : Bytes)
  | missingField (field : Bytes)
  | unknownField
  | badFieldType (field : Bytes)
  | badVersion (version : Int)
  | badIat
  deriving DecidableEq

def maxPayloadURL : Nat := 2048

def https : Bytes := Bytes.ascii "https"

def http : Bytes := Bytes.ascii "http"

def isLoopback (host : Bytes) : Bool :=
  host == Bytes.ascii "localhost" || host == Bytes.ascii "127.0.0.1" || host == Bytes.ascii "::1"

def decimalValue (digits : Bytes) : Nat :=
  digits.foldl (fun n b => n * 10 + (b - GoStrings.byte '0').toNat) 0

/-- No port, or one that scripts read as the same number. -/
def validPort (port : Bytes) : Bool :=
  port.isEmpty || (1 ≤ decimalValue port && decimalValue port ≤ 65535 &&
    !(1 < port.length && port.head? == some (GoStrings.byte '0')))

def isDefaultPort (scheme port : Bytes) : Bool :=
  scheme == https && port == Bytes.ascii "443" || scheme == http && port == Bytes.ascii "80"

def hostport (host port : Bytes) : Bytes :=
  (if NetUrl.char ':' ∈ host then NetUrl.char '[' :: (host ++ [NetUrl.char ']']) else host)
    ++ NetUrl.portText port

def writtenPort (scheme port : Bytes) : Bytes := if isDefaultPort scheme port then [] else port

def canonicalOf (scheme host port : Bytes) : Bytes :=
  scheme ++ Bytes.ascii "://" ++ hostport host (writtenPort scheme port)

def canonicalIngestURL (raw : Bytes) : Except KeyError Bytes :=
  if maxPayloadURL < raw.length then .error .urlTooLong
  else
    match NetUrl.parse (GoStrings.trimSpace raw) with
    | none => .error .urlInvalid
    | some u =>
      if u.host = [] ∨ u.scheme = [] then .error .urlInvalid
      else
        let scheme := toLower u.scheme
        let host := toLower u.hostname
        if ¬(scheme = https ∨ scheme = http ∧ isLoopback host) then .error .urlScheme
        else if u.user ≠ none ∨ u.rawQuery ≠ [] ∨ u.fragment ≠ []
            ∨ u.path ≠ [] ∧ u.path ≠ Bytes.ascii "/" then
          .error .urlNotOrigin
        else if host.any (0x80 ≤ ·) then .error .urlHostAscii
        else if !validPort u.port then .error .urlPort
        else .ok (canonicalOf scheme host u.port)

/-- A host that is read back as it is written. -/
def ReadsBack (scheme host port : Bytes) : Prop :=
  NetUrl.char '%' ∉ host ∧ (NetUrl.char ':' ∈ host → NetUrl.isIPv6 host = true) ∧
    (host = [] → port ≠ [] ∧ isDefaultPort scheme port = false)
  deriving Decidable

/-- The host of a raw URL is one that is read back. -/
def NamesPlainHost (raw : Bytes) : Prop :=
  ∃ u, NetUrl.parse (GoStrings.trimSpace raw) = some u ∧
    ReadsBack (toLower u.scheme) (toLower u.hostname) u.port

structure Accepted (raw : Bytes) (u : Url) : Prop where
  short : raw.length ≤ maxPayloadURL
  parsed : NetUrl.parse (GoStrings.trimSpace raw) = some u
  host : u.host ≠ []
  absolute : u.scheme ≠ []
  scheme : toLower u.scheme = https ∨ toLower u.scheme = http ∧ isLoopback (toLower u.hostname) = true
  noUser : u.user = none
  noQuery : u.rawQuery = []
  noFragment : u.fragment = []
  noPath : u.path = [] ∨ u.path = Bytes.ascii "/"
  ascii : ∀ b ∈ toLower u.hostname, b < 0x80
  port : validPort u.port = true

variable {raw canonical : Bytes}

theorem canonicalIngestURL_eq_ok :
    canonicalIngestURL raw = .ok canonical ↔
      ∃ u, Accepted raw u ∧ canonical = canonicalOf (toLower u.scheme) (toLower u.hostname) u.port := by
  constructor
  · intro accepted
    unfold canonicalIngestURL at accepted
    split_ifs at accepted with long
    split at accepted
    · cases accepted
    · rename_i u parsed
      dsimp only at accepted
      split_ifs at accepted with nowhere scheme notOrigin wide port
      push Not at nowhere notOrigin
      have ascii : ∀ b ∈ toLower u.hostname, b < 0x80 := fun b member => by
        by_contra large
        exact wide (List.any_eq_true.mpr ⟨b, member, decide_eq_true (UInt8.not_lt.mp large)⟩)
      refine ⟨u, ⟨Nat.le_of_not_lt long, parsed, nowhere.1, nowhere.2, scheme, notOrigin.1,
        notOrigin.2.1, notOrigin.2.2.1, ?_, ascii, by simpa using port⟩, (Except.ok.inj accepted).symm⟩
      by_cases empty : u.path = []
      · exact .inl empty
      · exact .inr (notOrigin.2.2.2 empty)
  · rintro ⟨u, accepted, rfl⟩
    have notOrigin : ¬(u.user ≠ none ∨ u.rawQuery ≠ [] ∨ u.fragment ≠ []
        ∨ u.path ≠ [] ∧ u.path ≠ Bytes.ascii "/") := by
      have path := accepted.noPath
      simp only [accepted.noUser, accepted.noQuery, accepted.noFragment, ne_eq, not_true_eq_false,
        false_or, not_and, not_not]
      exact fun some_ => path.resolve_left some_
    have narrow : ¬((toLower u.hostname).any (0x80 ≤ ·) = true) := by
      rw [List.any_eq_true]
      rintro ⟨b, member, large⟩
      exact absurd (accepted.ascii b member) (UInt8.not_lt.mpr (of_decide_eq_true large))
    have somewhere : ¬(u.host = [] ∨ u.scheme = []) := not_or.mpr ⟨accepted.host, accepted.absolute⟩
    unfold canonicalIngestURL
    rw [if_neg (Nat.not_lt.mpr accepted.short), accepted.parsed]
    dsimp only
    rw [if_neg somewhere, if_neg (not_not.mpr accepted.scheme), if_neg notOrigin, if_neg narrow,
      accepted.port]
    rfl

/-- A scheme, a host and a port as an accepted URL gives them. -/
structure Normal (scheme host port : Bytes) : Prop where
  allowed : scheme = https ∨ scheme = http ∧ isLoopback host = true
  small : ∀ b ∈ host, b < 0x80 ∧ GoStrings.lower b = b
  decoded : ∀ b ∈ host, NetUrl.Decoded .zone b
  /-- A host without a colon stood in no brackets. -/
  name : NetUrl.char ':' ∉ host → NetUrl.char '[' ∉ host ∧ ∀ b ∈ host, NetUrl.Decoded .host b
  valid : validPort port = true
  digits : port.all NetUrl.isDigit = true
  short : NetUrl.char ':' ∉ host → (canonicalOf scheme host port).length ≤ maxPayloadURL

theorem byte_facts (b : UInt8) : (NetUrl.HostByte b → NetUrl.HostByte (GoStrings.lower b)) ∧
    (b < 0x80 → NetUrl.Decoded .host b → 0x20 < b) ∧
    (NetUrl.isDigit b = true → 0x20 < b ∧ b < 0x80 ∧ NetUrl.AuthorityByte b ∧
      (b ≠ GoStrings.byte '0' → 1 ≤ (b - GoStrings.byte '0').toNat)) ∧
    (NetUrl.AddressByte b → b ≠ NetUrl.char '[' ∧ NetUrl.HostByte b) :=
  Bytes.forall_byte (P := fun b => (NetUrl.HostByte b → NetUrl.HostByte (GoStrings.lower b)) ∧
    (b < 0x80 → NetUrl.Decoded .host b → 0x20 < b) ∧
    (NetUrl.isDigit b = true → 0x20 < b ∧ b < 0x80 ∧ NetUrl.AuthorityByte b ∧
      (b ≠ GoStrings.byte '0' → 1 ≤ (b - GoStrings.byte '0').toNat)) ∧
    (NetUrl.AddressByte b → b ≠ NetUrl.char '[' ∧ NetUrl.HostByte b)) (by decide +kernel) b

theorem decoded_lower {mode : NetUrl.Encoding} (b : UInt8) (decoded : NetUrl.Decoded mode b) :
    NetUrl.Decoded mode (GoStrings.lower b) := by
  rcases decoded with plain | rfl | ⟨zone, rfl⟩
  · exact .inl ((byte_facts b).1 plain)
  · exact .inr (.inl rfl)
  · exact .inr (.inr ⟨zone, rfl⟩)

theorem length_hostport (host port : Bytes) (colon : NetUrl.char ':' ∉ host) :
    (hostport host port).length = host.length + (NetUrl.portText port).length := by
  rw [hostport, if_neg colon, List.length_append]

theorem Accepted.normal {u : Url} (accepted : Accepted raw u) :
    Normal (toLower u.scheme) (toLower u.hostname) u.port := by
  obtain ⟨authority, read, length⟩ := NetUrl.authority_of_parse accepted.parsed accepted.host accepted.absolute
  rw [accepted.noUser] at read
  have hosted := NetUrl.hostRead_of_parseAuthority read
  obtain ⟨digits, inside, parts⟩ := NetUrl.splitHostPort_spec u.host
  have keeps {c : UInt8} (small : c < 0x80) (other : GoStrings.isLetter c = false) :
      c ∈ toLower u.hostname ↔ c ∈ u.hostname := GoStrings.mem_toLower_iff small other
  refine ⟨accepted.scheme, fun b member => ⟨accepted.ascii b member, GoStrings.lower_of_mem_toLower member⟩,
    GoStrings.forall_toLower decoded_lower (by decide) fun b member => hosted.decoded b (inside b member),
    fun colon => ?_, accepted.port, digits, fun colon => ?_⟩
  · rw [keeps (by decide) (by decide)] at colon
    rw [keeps (by decide) (by decide)]
    obtain ⟨noBracket, decoded⟩ := hosted.outsideBrackets colon
    have bytes := (NetUrl.unescape_eq_some decoded).1 (.inl rfl)
    refine ⟨fun bracket => ?_, GoStrings.forall_toLower decoded_lower (by decide) fun b member =>
      bytes b (inside b member)⟩
    exact noBracket (NetUrl.mem_of_mem_unescape decoded (inside _ bracket) (by decide) (by decide))
  · have schemeLength := GoStrings.length_toLower_le u.scheme
    have hostLength := GoStrings.length_toLower_le u.hostname
    have trimmed := GoStrings.length_trimSpace_le raw
    have hostRead := hosted.length.1
    have short := accepted.short
    have port : (NetUrl.portText (writtenPort (toLower u.scheme) u.port)).length ≤
        (NetUrl.portText u.port).length := by
      unfold writtenPort
      split_ifs
      · exact Nat.zero_le _
      · exact Nat.le_refl _
    have separator : (Bytes.ascii "://").length = 3 := rfl
    rw [canonicalOf, List.length_append, List.length_append, length_hostport _ _ colon, separator]
    have parts' : u.hostname.length + (NetUrl.portText u.port).length ≤ u.host.length := parts
    omega

theorem plainScheme_https : NetUrl.PlainScheme https :=
  ⟨by decide +kernel, _, _, rfl, by decide⟩

theorem plainScheme_http : NetUrl.PlainScheme http :=
  ⟨by decide +kernel, _, _, rfl, by decide⟩

theorem le_decimalValue (digits : Bytes) (start : Nat) :
    start * 10 ^ digits.length ≤
      digits.foldl (fun n b => n * 10 + (b - GoStrings.byte '0').toNat) start := by
  induction digits generalizing start with
  | nil => exact Nat.le_of_eq (Nat.mul_one start)
  | cons d digits ih =>
    have later := ih (start * 10 + (d - GoStrings.byte '0').toNat)
    rw [List.length_cons, Nat.pow_succ, Nat.mul_comm (10 ^ digits.length), ← Nat.mul_assoc]
    exact Nat.le_trans (Nat.mul_le_mul_right _ (Nat.le_add_right _ _)) later

theorem length_of_validPort {port : Bytes} (valid : validPort port = true)
    (digits : port.all NetUrl.isDigit = true) : port.length ≤ 5 := by
  cases port with
  | nil => exact Nat.zero_le _
  | cons d rest =>
    simp only [validPort, List.isEmpty_cons, Bool.false_or, Bool.and_eq_true, decide_eq_true_eq,
      Bool.not_eq_true', Bool.and_eq_false_iff, decide_eq_false_iff_not] at valid
    obtain ⟨⟨-, most⟩, leading⟩ := valid
    rcases leading with short | first
    · exact Nat.le_trans (Nat.le_of_not_lt short) (by decide)
    · have one := ((byte_facts d).2.2.1 (List.all_eq_true.mp digits d List.mem_cons_self)).2.2.2 (by simpa using first)
      have grown := le_decimalValue rest (0 * 10 + (d - GoStrings.byte '0').toNat)
      have value : decimalValue (d :: rest) =
          rest.foldl (fun n b => n * 10 + (b - GoStrings.byte '0').toNat)
            (0 * 10 + (d - GoStrings.byte '0').toNat) := rfl
      rw [Nat.zero_mul, Nat.zero_add] at grown value
      rw [value] at most
      by_contra long
      rw [List.length_cons] at long
      have power : 10 ^ 5 ≤ 10 ^ rest.length := Nat.pow_le_pow_right (by decide) (by omega)
      have least := Nat.mul_le_mul_right (10 ^ rest.length) one
      omega

theorem tail_portText (port : Bytes) : (NetUrl.portText port).tail = port := by
  unfold NetUrl.portText
  split_ifs with empty
  · exact empty.symm
  · rfl

theorem canonicalOf_writtenPort (scheme host port : Bytes) :
    canonicalOf scheme host (writtenPort scheme port) = canonicalOf scheme host port := by
  have twice : writtenPort scheme (writtenPort scheme port) = writtenPort scheme port := by
    by_cases default : isDefaultPort scheme port = true
    · have none_ : writtenPort scheme port = [] := if_pos default
      rw [none_]
      exact ite_self []
    · have same : writtenPort scheme port = port := if_neg default
      rw [same, same]
  rw [canonicalOf, canonicalOf, twice]

theorem digits_of_cutLast {host port front back : Bytes} (colon : NetUrl.char ':' ∉ host)
    (digits : port.all NetUrl.isDigit = true)
    (cut_ : NetUrl.cutLast (NetUrl.char ':') (host ++ NetUrl.portText port) = some (front, back)) :
    back.all NetUrl.isDigit = true := by
  unfold NetUrl.portText at cut_
  split_ifs at cut_
  · rw [List.append_nil, NetUrl.cutLast_eq_none.mpr colon] at cut_
    cases cut_
  · have clean : NetUrl.char ':' ∉ port := fun member =>
      absurd (List.all_eq_true.mp digits _ member) (by decide)
    rw [NetUrl.cutLast_eq_some.mpr ⟨rfl, clean⟩] at cut_
    obtain ⟨-, rfl⟩ := Prod.mk.inj (Option.some.inj cut_)
    exact digits

theorem length_portText_tail {port : Bytes} (valid : NetUrl.validOptionalPort port = true) :
    (NetUrl.portText port.tail).length ≤ port.length := by
  cases port with
  | nil => exact Nat.le_refl _
  | cons b rest =>
    rw [List.tail_cons, NetUrl.portText]
    split_ifs
    · exact Nat.zero_le _
    · exact Nat.le_refl _

theorem isIPv6_of_hostRead {host port read : Bytes}
    (hosted : NetUrl.HostRead (NetUrl.char '[' :: (host ++ NetUrl.char ']' :: port)) read)
    (clean : NetUrl.char '%' ∉ host) (last : NetUrl.char ']' ∉ port) : NetUrl.isIPv6 host = true := by
  generalize text_ : NetUrl.char '[' :: (host ++ NetUrl.char ']' :: port) = text at hosted
  cases hosted with
  | name noBracket _ _ =>
    rw [← text_] at noBracket
    exact absurd List.mem_cons_self noBracket
  | address whole _ last' _ decoded decodedZone six =>
    have inside := (List.cons.inj (text_.trans whole)).2
    have cut_ := NetUrl.cutLast_eq_some.mpr ⟨inside, last'⟩
    rw [NetUrl.cutLast_eq_some.mpr ⟨rfl, last⟩] at cut_
    obtain ⟨rfl, -⟩ := Prod.mk.inj (Option.some.inj cut_)
    rw [NetUrl.splitZone_of_clean clean] at decoded decodedZone
    obtain rfl := NetUrl.unescape_eq_self decoded clean
    obtain rfl := Option.some.inj decodedZone
    rwa [List.append_nil] at six

section

variable {scheme host port : Bytes}

namespace Normal

variable (normal : Normal scheme host port)

include normal

theorem plainScheme : NetUrl.PlainScheme scheme := by
  rcases normal.allowed with rfl | ⟨rfl, -⟩
  · exact plainScheme_https
  · exact plainScheme_http

theorem toLower_scheme : toLower scheme = scheme := by
  rcases normal.allowed with rfl | ⟨rfl, -⟩
  · decide +kernel
  · decide +kernel

theorem toLower_host : toLower host = host := by
  rw [GoStrings.toLower_ascii fun b member => (normal.small b member).1]
  exact (List.map_congr_left fun b member => (normal.small b member).2).trans (List.map_id' _)

theorem writtenPort_digits : (writtenPort scheme port).all NetUrl.isDigit = true := by
  unfold writtenPort
  split_ifs
  · rfl
  · exact normal.digits

theorem writtenPort_valid : validPort (writtenPort scheme port) = true := by
  unfold writtenPort
  split_ifs
  · rfl
  · exact normal.valid

theorem hostport_authority : ∀ b ∈ hostport host (writtenPort scheme port), NetUrl.AuthorityByte b := by
  have inHost : ∀ b ∈ host, NetUrl.AuthorityByte b := fun b member =>
    NetUrl.authorityByte_of_decoded (normal.decoded b member)
  have inPort : ∀ b ∈ NetUrl.portText (writtenPort scheme port), NetUrl.AuthorityByte b := by
    unfold NetUrl.portText
    split_ifs
    · exact nofun
    · refine List.forall_mem_cons.mpr ⟨by decide, fun b member => ?_⟩
      exact ((byte_facts b).2.2.1 (List.all_eq_true.mp normal.writtenPort_digits b member)).2.2.1
  unfold hostport
  refine List.forall_mem_append.mpr ⟨?_, inPort⟩
  split_ifs
  · exact List.forall_mem_cons.mpr ⟨by decide, List.forall_mem_append.mpr ⟨inHost, by simp [NetUrl.AuthorityByte]; decide⟩⟩
  · exact inHost

theorem parse_canonicalOf : NetUrl.parse (canonicalOf scheme host port) =
    (NetUrl.parseHost (hostport host (writtenPort scheme port))).map fun host => { scheme, host } :=
  NetUrl.parse_origin normal.plainScheme normal.hostport_authority

theorem visible_last : ∀ b ∈ (canonicalOf scheme host port).getLast?, GoStrings.Visible b := by
  intro b last
  rw [Option.mem_def, canonicalOf, List.getLast?_append, Option.or_eq_some_iff] at last
  rcases last with inHostport | ⟨-, separator⟩
  · rw [hostport, List.getLast?_append, Option.or_eq_some_iff] at inHostport
    rcases inHostport with inPort | ⟨-, inHost⟩
    · have member := List.mem_of_getLast? inPort
      unfold NetUrl.portText at member
      split_ifs at member
      · cases member
      · rcases List.mem_cons.mp member with rfl | member
        · exact GoStrings.visible_of_graphic (by decide) (by decide)
        · obtain ⟨low, high, -⟩ := (byte_facts b).2.2.1 (List.all_eq_true.mp normal.writtenPort_digits b member)
          exact GoStrings.visible_of_graphic low high
    · split_ifs at inHost with colon
      · rw [← List.cons_append, List.getLast?_concat] at inHost
        rw [← Option.some.inj inHost]
        exact GoStrings.visible_of_graphic (by decide) (by decide)
      · have member := List.mem_of_getLast? inHost
        have small := (normal.small b member).1
        exact GoStrings.visible_of_graphic ((byte_facts b).2.1 small ((normal.name colon).2 b member)) small
  · rw [List.getLast?_append_of_ne_nil _ (by decide)] at separator
    rw [← Option.some.inj separator]
    exact GoStrings.visible_of_graphic (by decide) (by decide)

theorem trimSpace_canonicalOf : GoStrings.trimSpace (canonicalOf scheme host port) = canonicalOf scheme host port := by
  refine GoStrings.trimSpace_eq_self ?_ normal.visible_last
  have first : (canonicalOf scheme host port).head? = some (GoStrings.byte 'h') := by
    rcases normal.allowed with rfl | ⟨rfl, -⟩ <;> rfl
  rw [first]
  exact fun b same => Option.some.inj same ▸ GoStrings.visible_of_graphic (by decide) (by decide)

theorem validOptionalPort : NetUrl.validOptionalPort (NetUrl.portText (writtenPort scheme port)) = true := by
  unfold NetUrl.portText
  split_ifs
  · rfl
  · exact NetUrl.validOptionalPort_iff.mpr (.inr ⟨_, rfl, normal.writtenPort_digits⟩)

theorem not_mem_portText {b : UInt8} (noColon : b ≠ NetUrl.char ':') (noDigit : NetUrl.isDigit b = false) :
    b ∉ NetUrl.portText (writtenPort scheme port) := by
  intro member
  rcases NetUrl.isDigit_of_mem_port normal.validOptionalPort member with same | digit
  · exact noColon same
  · rw [noDigit] at digit
    cases digit

theorem parseHost_hostport (reads : ReadsBack scheme host port) :
    NetUrl.parseHost (hostport host (writtenPort scheme port)) =
      some (hostport host (writtenPort scheme port)) ∧
    NetUrl.splitHostPort (hostport host (writtenPort scheme port)) = (host, writtenPort scheme port) := by
  obtain ⟨clean, six, -⟩ := reads
  by_cases colon : NetUrl.char ':' ∈ host
  · have bytes := (NetUrl.isIPv6_eq_true clean (six colon)).2
    have address : ∀ b, NetUrl.AddressByte b → b ≠ NetUrl.char '[' ∧ NetUrl.HostByte b :=
      fun b => (byte_facts b).2.2.2
    have spelled : hostport host (writtenPort scheme port) =
        NetUrl.char '[' :: (host ++ NetUrl.char ']' :: NetUrl.portText (writtenPort scheme port)) := by
      rw [hostport, if_pos colon]
      simp
    have last : NetUrl.char ']' ∉ NetUrl.portText (writtenPort scheme port) :=
      normal.not_mem_portText (by decide) (by decide)
    rw [spelled, NetUrl.splitHostPort_address normal.validOptionalPort, tail_portText]
    refine ⟨NetUrl.parseHost_address (fun member => ?_) last clean (fun b member => ?_)
      normal.validOptionalPort (six colon), rfl⟩
    · exact (address _ (bytes _ member)).1 rfl
    · exact (address b (bytes b member)).2
  · obtain ⟨noBracket, decoded⟩ := normal.name colon
    have plain : ∀ b ∈ host, NetUrl.HostByte b := by
      intro b member
      rcases decoded b member with plain | rfl | zone
      · exact plain
      · exact absurd member clean
      · exact nomatch zone.1
    have spelled : hostport host (writtenPort scheme port) =
        host ++ NetUrl.portText (writtenPort scheme port) := by
      rw [hostport, if_neg colon]
    have bracket : NetUrl.char '[' ∉ host ++ NetUrl.portText (writtenPort scheme port) := by
      rw [List.mem_append, not_or]
      exact ⟨noBracket, normal.not_mem_portText (by decide) (by decide)⟩
    have portBytes : ∀ b ∈ NetUrl.portText (writtenPort scheme port), NetUrl.HostByte b := by
      intro b member
      rcases NetUrl.isDigit_of_mem_port normal.validOptionalPort member with rfl | digit
      · decide
      · exact (NetUrl.hostByte_of_isDigit digit).1
    have percent : NetUrl.char '%' ∉ host ++ NetUrl.portText (writtenPort scheme port) := by
      rw [List.mem_append, not_or]
      exact ⟨clean, normal.not_mem_portText (by decide) (by decide)⟩
    rw [spelled]
    refine ⟨NetUrl.parseHost_name bracket (NetUrl.unescape_of_plain percent fun _ => ?_) fun front back cut_ => ?_, ?_⟩
    · exact List.forall_mem_append.mpr ⟨plain, portBytes⟩
    · exact digits_of_cutLast colon normal.writtenPort_digits cut_
    · refine NetUrl.splitHostPort_name (fun same => ?_) colon normal.writtenPort_digits
      exact noBracket (List.mem_of_mem_head? same)

theorem length_canonicalOf_le (reads : ReadsBack scheme host port) :
    (canonicalOf scheme host port).length ≤ maxPayloadURL := by
  by_cases colon : NetUrl.char ':' ∈ host
  · have short := (NetUrl.isIPv6_eq_true reads.1 (reads.2.1 colon)).1
    have portShort := length_of_validPort normal.writtenPort_valid normal.writtenPort_digits
    have schemeShort : scheme.length ≤ 5 := by
      rcases normal.allowed with rfl | ⟨rfl, -⟩ <;> decide
    have withColon : (NetUrl.portText (writtenPort scheme port)).length ≤ (writtenPort scheme port).length + 1 := by
      unfold NetUrl.portText
      split_ifs
      · exact Nat.zero_le _
      · exact Nat.le_refl _
    have separator : (Bytes.ascii "://").length = 3 := rfl
    rw [canonicalOf, hostport, if_pos colon]
    simp only [List.length_append, List.length_cons, List.length_nil, separator, maxPayloadURL]
    omega
  · exact normal.short colon

theorem canonical_of_readsBack (reads : ReadsBack scheme host port) :
    canonicalIngestURL (canonicalOf scheme host port) = .ok (canonicalOf scheme host port) := by
  obtain ⟨parsed, split_⟩ := normal.parseHost_hostport reads
  let u : Url := { scheme, host := hostport host (writtenPort scheme port) }
  have hostname : u.hostname = host := congrArg Prod.fst split_
  have port_ : u.port = writtenPort scheme port := congrArg Prod.snd split_
  have somewhere : hostport host (writtenPort scheme port) ≠ [] := by
    intro empty
    rw [hostport, List.append_eq_nil_iff] at empty
    have noHost : host = [] := by
      have front := empty.1
      split_ifs at front
      exact front
    obtain ⟨somePort, noDefault⟩ := reads.2.2 noHost
    have written : writtenPort scheme port = port := if_neg (by rw [noDefault]; exact Bool.false_ne_true)
    rw [written, NetUrl.portText, if_neg somePort] at empty
    exact List.cons_ne_nil _ _ empty.2
  refine canonicalIngestURL_eq_ok.mpr ⟨u, ⟨normal.length_canonicalOf_le reads, ?_, somewhere, ?_, ?_, rfl, rfl, rfl,
    .inl rfl, ?_, ?_⟩, ?_⟩
  · rw [normal.trimSpace_canonicalOf, normal.parse_canonicalOf, parsed]
    rfl
  · show scheme ≠ []
    rcases normal.allowed with rfl | ⟨rfl, -⟩ <;> decide
  · rw [hostname, normal.toLower_host]
    show toLower scheme = https ∨ _
    rw [normal.toLower_scheme]
    exact normal.allowed
  · rw [hostname, normal.toLower_host]
    exact fun b member => (normal.small b member).1
  · rw [port_]
    exact normal.writtenPort_valid
  · rw [hostname, port_, normal.toLower_host]
    show _ = canonicalOf (toLower scheme) host _
    rw [normal.toLower_scheme, canonicalOf_writtenPort]

omit normal in
/-- Written anew, a host that was parsed is no longer than it was, unless brackets are new. -/
theorem length_hostport_le {text read : Bytes} (hosted : NetUrl.HostRead text read) {scheme' : Bytes}
    (same : text = hostport (toLower (NetUrl.splitHostPort read).1)
      (writtenPort scheme' (NetUrl.splitHostPort read).2)) : text.length ≤ read.length := by
  have lowered := GoStrings.length_toLower_le (NetUrl.splitHostPort read).1
  have written : (NetUrl.portText (writtenPort scheme' (NetUrl.splitHostPort read).2)).length ≤
      (NetUrl.portText (NetUrl.splitHostPort read).2).length := by
    unfold writtenPort
    split_ifs
    · exact Nat.zero_le _
    · exact Nat.le_refl _
  cases hosted with
  | name noBracket decoded port =>
    have spec := (NetUrl.splitHostPort_spec read).2.2
    have colon : NetUrl.char ':' ∉ toLower (NetUrl.splitHostPort read).1 := by
      intro colon
      rw [same, hostport, if_pos colon] at noBracket
      exact noBracket List.mem_cons_self
    rw [same, length_hostport _ _ colon]
    omega
  | @address name port address zone whole noBracket last valid decoded decodedZone six =>
    rw [NetUrl.splitHostPort_address valid] at same lowered written
    have port_ := length_portText_tail valid
    have brackets : ∀ host port, (hostport host port).length ≤ host.length + 2 + (NetUrl.portText port).length := by
      intro host port
      unfold hostport
      split_ifs
      all_goals
        simp only [List.length_append, List.length_cons, List.length_nil]
        omega
    have total := congrArg List.length same
    have bound := brackets (toLower (address ++ zone)) (writtenPort scheme' port.tail)
    simp only [List.length_cons, List.length_append] at total bound lowered written ⊢
    omega

theorem readsBack_of_canonical
    (same : canonicalIngestURL (canonicalOf scheme host port) = .ok (canonicalOf scheme host port)) :
    ReadsBack scheme host port := by
  obtain ⟨u, accepted, again⟩ := canonicalIngestURL_eq_ok.mp same
  have parsed := accepted.parsed
  rw [normal.trimSpace_canonicalOf, normal.parse_canonicalOf] at parsed
  obtain ⟨read, parsedHost, rfl⟩ := Option.map_eq_some_iff.mp parsed
  have hosted := NetUrl.hostRead_of_parseHost parsedHost
  have text : hostport host (writtenPort scheme port) =
      hostport (toLower (NetUrl.splitHostPort read).1) (writtenPort scheme (NetUrl.splitHostPort read).2) := by
    have whole : canonicalOf scheme host port = canonicalOf (toLower scheme) (toLower (NetUrl.splitHostPort read).1)
      (NetUrl.splitHostPort read).2 := again
    rw [normal.toLower_scheme] at whole
    exact List.append_cancel_left whole
  have length := length_hostport_le hosted text
  have clean : NetUrl.char '%' ∉ host := by
    intro escaped
    have inText : NetUrl.char '%' ∈ hostport host (writtenPort scheme port) := by
      unfold hostport
      split_ifs
      · exact List.mem_append_left _ (List.mem_cons_of_mem _ (List.mem_append_left _ escaped))
      · exact List.mem_append_left _ escaped
    exact absurd length (Nat.not_le.mpr (hosted.length.2 inText))
  refine ⟨clean, fun colon => ?_, fun empty => ?_⟩
  · have spelled : hostport host (writtenPort scheme port) =
        NetUrl.char '[' :: (host ++ NetUrl.char ']' :: NetUrl.portText (writtenPort scheme port)) := by
      rw [hostport, if_pos colon]
      simp
    rw [spelled] at hosted
    exact isIPv6_of_hostRead hosted clean (normal.not_mem_portText (by decide) (by decide))
  · have nowhere : writtenPort scheme port ≠ [] := by
      intro noPort
      have nothing : hostport host (writtenPort scheme port) = [] := by
        rw [noPort, empty]
        rfl
      have short := hosted.length.1
      rw [nothing, List.length_nil, Nat.le_zero, List.length_eq_zero_iff] at short
      exact accepted.host short
    unfold writtenPort at nowhere
    split_ifs at nowhere with default
    · exact absurd rfl nowhere
    · exact ⟨nowhere, by simpa using default⟩

theorem canonical_iff : canonicalIngestURL (canonicalOf scheme host port) = .ok (canonicalOf scheme host port) ↔
    ReadsBack scheme host port :=
  ⟨normal.readsBack_of_canonical, normal.canonical_of_readsBack⟩

end Normal

end

theorem canonicalIngestURL_idempotent_iff (accepted : canonicalIngestURL raw = .ok canonical) :
    canonicalIngestURL canonical = .ok canonical ↔ NamesPlainHost raw := by
  obtain ⟨u, admitted, rfl⟩ := canonicalIngestURL_eq_ok.mp accepted
  rw [admitted.normal.canonical_iff]
  refine ⟨fun reads => ⟨u, admitted.parsed, reads⟩, ?_⟩
  rintro ⟨u', parsed, reads⟩
  obtain rfl := Option.some.inj (admitted.parsed.symm.trans parsed)
  exact reads

end Opslane.Auth

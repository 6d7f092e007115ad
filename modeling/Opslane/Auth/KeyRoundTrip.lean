import Opslane.Auth.ProjectKeys

/-!
# Minted keys are parsed

A minted key is parsed as what it was minted from if it is not too long. Only the URL in it can
make it so: a host may be of signs that JSON for web pages spells in six bytes each.
-/

namespace Opslane.Auth

theorem length_mintedKeyID (random : KeyRandomness) : (mintedKeyID random).length = keyIDLen := by
  have letters : ∀ b ∈ BitText.base32.letters, b < 0x80 := Bytes.forall_mem (by decide +kernel)
  have ascii : ∀ b ∈ BitText.base32.encode random.idRaw, b < 0x80 := fun b member =>
    letters b (BitText.Alphabet.mem_letters_of_mem_encode member)
  rw [mintedKeyID, GoStrings.toLower_ascii ascii, List.length_map, BitText.Alphabet.length_encode,
    random.length_idRaw]
  rfl

theorem length_mintedSecret (random : KeyRandomness) : (mintedSecret random).length = secretLen := by
  rw [mintedSecret, BitText.Alphabet.length_encode, random.length_secretRaw]
  rfl

theorem isKeyID_mintedKeyID (random : KeyRandomness) : isKeyID (mintedKeyID random) = true := by
  have letters : ∀ b ∈ BitText.base32.letters,
      (GoStrings.isLower (GoStrings.lower b) ||
        (GoStrings.byte '2' ≤ GoStrings.lower b && GoStrings.lower b ≤ GoStrings.byte '7')) = true ∧ b < 0x80 :=
    Bytes.forall_mem (by decide +kernel)
  have inLetters {b : UInt8} (member : b ∈ BitText.base32.encode random.idRaw) :=
    letters b (BitText.Alphabet.mem_letters_of_mem_encode member)
  rw [isKeyID, length_mintedKeyID, Bool.and_eq_true]
  refine ⟨by decide, List.all_eq_true.mpr fun b member => ?_⟩
  rw [mintedKeyID, GoStrings.toLower_ascii fun b member => (inLetters member).2] at member
  obtain ⟨a, encoded, rfl⟩ := List.mem_map.mp member
  exact (inLetters encoded).1

theorem isSecret_mintedSecret (random : KeyRandomness) : isSecret (mintedSecret random) = true := by
  have letters : ∀ b ∈ BitText.base64url.letters,
      (GoStrings.isLetter b || GoStrings.isDigit b || b == underscore || b == GoStrings.byte '-') = true :=
    Bytes.forall_mem (by decide +kernel)
  rw [isSecret, length_mintedSecret, Bool.and_eq_true]
  exact ⟨by decide, List.all_eq_true.mpr fun b member =>
    letters b (BitText.Alphabet.mem_letters_of_mem_encode member)⟩

theorem beforeUnderscore_append {front : Bytes} (clean : underscore ∉ front) (back : Bytes) :
    beforeUnderscore (front ++ underscore :: back) = some (front, back) := by
  rw [beforeUnderscore, NetUrl.cut_append clean]

variable {random : KeyRandomness}

theorem underscore_not_mem : underscore ∉ mintedKeyID random := by
  intro member
  have valid := isKeyID_mintedKeyID random
  rw [isKeyID, Bool.and_eq_true] at valid
  exact absurd (List.all_eq_true.mp valid.2 _ member) (by decide)

theorem length_bareKey (scope : Scope) (random : KeyRandomness) : (bareKey scope random).length = secretEnd := by
  have ten : (prefixForScope scope).length = 10 := by
    cases scope
    all_goals decide
  have total : secretEnd = 81 := by decide
  rw [bareKey, List.length_append, List.length_cons, List.length_append, List.length_cons, ten,
    length_mintedKeyID, length_mintedSecret, total]
  decide

theorem prefixForScope_eq (scope : Scope) : ∃ kind, prefixForScope scope = Bytes.ascii "opslane" ++ underscore :: kind ∧
    underscore ∉ kind ∧ scopeForPrefix (Bytes.ascii "opslane" ++ underscore :: kind) = some scope := by
  cases scope with
  | ingest => exact ⟨Bytes.ascii "pk", by decide, by decide, by decide⟩
  | sourcemaps => exact ⟨Bytes.ascii "sk", by decide, by decide, by decide⟩
  | api => exact ⟨Bytes.ascii "ak", by decide, by decide, by decide⟩

theorem parseProjectKey_bareKey {scope : Scope} {end_ : Bytes}
    (short : (bareKey scope random ++ end_).length ≤ maxRawKeyLen)
    (valid : validEnd scope end_ = true) :
    parseProjectKey (bareKey scope random ++ end_) =
      some { keyID := mintedKeyID random, secret := mintedSecret random, scope } := by
  obtain ⟨kind, spelled, clean, known⟩ := prefixForScope_eq scope
  have raw : bareKey scope random ++ end_ = Bytes.ascii "opslane" ++ underscore ::
      (kind ++ underscore :: (mintedKeyID random ++ underscore :: (mintedSecret random ++ end_))) := by
    simp [bareKey, spelled]
  have name : underscore ∉ Bytes.ascii "opslane" := by decide
  have taken : (mintedSecret random ++ end_).take secretLen = mintedSecret random :=
    List.take_left' (length_mintedSecret random)
  have dropped : (mintedSecret random ++ end_).drop secretLen = end_ :=
    List.drop_left' (length_mintedSecret random)
  have enough : ¬(mintedSecret random ++ end_).length < secretLen := by
    rw [List.length_append, length_mintedSecret]
    omega
  rw [parseProjectKey, if_neg (Nat.not_lt.mpr short), raw]
  simp only [beforeUnderscore_append name, beforeUnderscore_append clean,
    beforeUnderscore_append underscore_not_mem, Option.bind_eq_bind, Option.bind_some, known,
    isKeyID_mintedKeyID, taken, dropped, enough, isSecret_mintedSecret, valid, Bool.not_true,
    Bool.false_eq_true, or_self, if_false, if_true]

/-- The longest URL, as it stands in JSON with its quotes, that a key has room for. -/
def longestQuotedURL : Nat := 2967

theorem length_format (t : GoTime.UtcTime) : t.format.length = 20 := by
  have marks : (Bytes.ascii "-").length = 1 ∧ (Bytes.ascii "T").length = 1 ∧ (Bytes.ascii ":").length = 1 ∧
      (Bytes.ascii "Z").length = 1 := by decide
  simp only [GoTime.UtcTime.format, List.length_append, GoTime.length_padded, marks]

theorem length_quote_unescaped {s : Bytes} (unescaped : ∀ b ∈ s, GoJson.Unescaped b.toNat) :
    (GoJson.quote s).length = s.length + 2 := by
  have codes_ : ∀ c ∈ s.map UInt8.toNat, GoJson.Unescaped c := by
    intro c member
    obtain ⟨b, inside, rfl⟩ := List.mem_map.mp member
    exact unescaped b inside
  have same := GoJson.quoteFrom_unescaped codes_
  rw [List.length_map] at same
  rw [GoJson.quote, same]
  simp

theorem length_text (iat : GoTime.UtcTime) (url : Bytes) :
    ({ v := 1, iat := iat.format, url } : SKPayload).text.length = 43 + (GoJson.quote url).length := by
  have moment := length_quote_unescaped (unescaped_format iat)
  rw [length_format] at moment
  have front : (JsonReader.codes "\x7b\"v\":").length + (JsonReader.codes (toString (1 : Int))).length +
      (JsonReader.codes ",\"iat\":").length = 13 := by decide
  have middle : (JsonReader.codes ",\"url\":").length + (JsonReader.codes "\x7d").length = 8 := by decide
  simp only [SKPayload.text, List.length_append, moment]
  omega

variable {now : GoTime.UtcTime}

theorem length_sealed {canonical payload : Bytes} (random : KeyRandomness)
    (sealed_ : encodeSKPayload canonical now = .ok payload) :
    (bareKey .sourcemaps random ++ underscore :: payload).length ≤ maxRawKeyLen ↔
      (GoJson.quote canonical).length ≤ longestQuotedURL := by
  unfold encodeSKPayload at sealed_
  split_ifs at sealed_
  obtain rfl := Except.ok.inj sealed_
  have total : secretEnd = 81 := by decide
  have text := length_text now canonical
  have spelled := BitText.Alphabet.length_encode BitText.base64url
    (({ v := 1, iat := now.format, url := canonical } : SKPayload).text.map Nat.toUInt8)
  rw [List.length_map, text] at spelled
  rw [List.length_append, length_bareKey, List.length_cons, spelled, total]
  have six : BitText.base64url.width = 6 := rfl
  unfold BitText.Alphabet.spelledLength maxRawKeyLen longestQuotedURL
  rw [six]
  omega

/-- The key is parsed as its parts, and names the canonical form of the endpoint. -/
def RoundTrips (scope : Scope) (endpoint : Bytes) (random : KeyRandomness) (minted : MintedProjectKey) : Prop :=
  parseProjectKey minted.raw = some { keyID := minted.keyID, secret := mintedSecret random, scope } ∧
    (scope = .sourcemaps →
      ∃ canonical, canonicalIngestURL endpoint = .ok canonical ∧ sealedURL minted.raw = .ok canonical)

/-- The endpoint of a source-map key is short as it is spelled in JSON. -/
def FitsKey (scope : Scope) (endpoint : Bytes) : Prop :=
  scope = .sourcemaps → ∃ u, NetUrl.parse (GoStrings.trimSpace endpoint) = some u ∧
    (GoJson.quote (canonicalOf (GoStrings.toLower u.scheme) (GoStrings.toLower u.hostname) u.port)).length
      ≤ longestQuotedURL

theorem newProjectKey_eq_ok {scope : Scope} {endpoint : Bytes} {minted : MintedProjectKey}
    (mint : newProjectKey scope endpoint random now = .ok minted) :
    ∃ end_, sealedEnd scope endpoint now = .ok end_ ∧
      minted = { keyID := mintedKeyID random, scope, tokenPrefix := prefixForScope scope,
                 raw := bareKey scope random ++ end_ } := by
  unfold newProjectKey at mint
  split_ifs at mint
  split at mint
  · cases mint
  · rename_i end_ ending
    exact ⟨end_, ending, (Except.ok.inj mint).symm⟩

theorem sealedEnd_sourcemaps {endpoint end_ : Bytes}
    (ending : sealedEnd .sourcemaps endpoint now = .ok end_) :
    ∃ canonical payload, canonicalIngestURL endpoint = .ok canonical ∧
      encodeSKPayload canonical now = .ok payload ∧ end_ = underscore :: payload := by
  obtain ⟨canonical, accepted, ending⟩ := Except.of_bind ending
  obtain ⟨payload, sealed_, ending⟩ := Except.of_bind ending
  exact ⟨canonical, payload, accepted, sealed_, (Except.ok.inj ending).symm⟩

theorem parseProjectKey_bare (scope : Scope) (random : KeyRandomness) :
    parseProjectKey (bareKey scope random) =
      some { keyID := mintedKeyID random, secret := mintedSecret random, scope } := by
  have short : (bareKey scope random ++ []).length ≤ maxRawKeyLen := by
    rw [List.append_nil, length_bareKey]
    decide
  have parsed := parseProjectKey_bareKey short rfl
  rwa [List.append_nil] at parsed

theorem roundTrips_sourcemaps {endpoint canonical payload : Bytes}
    (accepted : canonicalIngestURL endpoint = .ok canonical)
    (sealed_ : encodeSKPayload canonical now = .ok payload) :
    RoundTrips .sourcemaps endpoint random {
        keyID := mintedKeyID random
        scope := .sourcemaps
        tokenPrefix := prefixSourcemaps
        raw := bareKey .sourcemaps random ++ underscore :: payload } ↔
      (GoJson.quote canonical).length ≤ longestQuotedURL := by
  have parsed := parseSKPayload_encode sealed_
  rw [← length_sealed random sealed_]
  constructor
  · rintro ⟨trip, -⟩
    by_contra long
    rw [parseProjectKey, if_pos (Nat.lt_of_not_le long)] at trip
    cases trip
  · intro short
    have valid : validEnd .sourcemaps (underscore :: payload) = true := by
      rw [validEnd, parsed]
      rfl
    have behind : (bareKey .sourcemaps random ++ underscore :: payload).drop (secretEnd + 1) = payload := by
      rw [← length_bareKey .sourcemaps random, List.drop_append, List.drop_of_length_le (Nat.le_succ _)]
      simp
    refine ⟨parseProjectKey_bareKey short valid, fun _ => ⟨canonical, accepted, ?_⟩⟩
    rw [sealedURL, behind, parsed]
    rfl

/-- A minted key is parsed as it was minted if and only if its URL fits, and the canonical form of
a URL is canonical if and only if its host is read back as it is written. -/
theorem keyCodec_iff {scope : Scope} {endpoint : Bytes} {random : KeyRandomness} {now : GoTime.UtcTime}
    {minted : MintedProjectKey} {raw canonical : Bytes}
    (mint : newProjectKey scope endpoint random now = .ok minted) (accepted : canonicalIngestURL raw = .ok canonical) :
    (RoundTrips scope endpoint random minted ↔ FitsKey scope endpoint) ∧
      (canonicalIngestURL canonical = .ok canonical ↔ NamesPlainHost raw) := by
  refine ⟨?_, canonicalIngestURL_idempotent_iff accepted⟩
  obtain ⟨end_, ending, rfl⟩ := newProjectKey_eq_ok mint
  by_cases kind : scope = .sourcemaps
  · subst kind
    obtain ⟨canonical', payload, accepted', sealed_, rfl⟩ := sealedEnd_sourcemaps ending
    obtain ⟨u, admitted, same⟩ := canonicalIngestURL_eq_ok.mp accepted'
    refine (roundTrips_sourcemaps accepted' sealed_).trans
      ⟨fun short _ => ⟨u, admitted.parsed, same ▸ short⟩, fun fits => ?_⟩
    obtain ⟨u', parsed, short⟩ := fits rfl
    obtain rfl := Option.some.inj (admitted.parsed.symm.trans parsed)
    rwa [same]
  · have nothing : end_ = [] := by
      cases scope with
      | sourcemaps => exact absurd rfl kind
      | ingest => exact (Except.ok.inj ending).symm
      | api => exact (Except.ok.inj ending).symm
    rw [nothing]
    refine iff_of_true ⟨?_, fun same => absurd same kind⟩ fun same => absurd same kind
    rw [List.append_nil]
    exact parseProjectKey_bare scope random

def zeros : KeyRandomness :=
  ⟨List.replicate 16 0, List.replicate 32 0, by decide, by decide⟩

/-- 1 January 2026, midnight. -/
def newYear : GoTime.UtcTime :=
  ⟨2026, 1, 1, 0, 0, 0, by decide, by decide, by decide, by decide, by decide, by decide⟩

/-- The key that is minted for an endpoint that is canonical already. -/
def keyFor (canonical : Bytes) : MintedProjectKey :=
  { keyID := mintedKeyID zeros
    scope := .sourcemaps
    tokenPrefix := prefixSourcemaps
    raw := bareKey .sourcemaps zeros ++ underscore :: BitText.base64url.encode
      (({ v := 1, iat := newYear.format, url := canonical } : SKPayload).text.map Nat.toUInt8) }

theorem newProjectKey_canonical {canonical : Bytes} (accepted : canonicalIngestURL canonical = .ok canonical)
    (some_ : canonical ≠ []) : newProjectKey .sourcemaps canonical zeros newYear = .ok (keyFor canonical) := by
  have ending : sealedEnd .sourcemaps canonical newYear = .ok (underscore :: BitText.base64url.encode
      (({ v := 1, iat := newYear.format, url := canonical } : SKPayload).text.map Nat.toUInt8)) := by
    simp only [sealedEnd, encodeSKPayload, accepted, bind, Except.bind, if_true]
    rfl
  rw [newProjectKey, if_neg fun both => some_ both.2, if_neg fun both => absurd rfl both.1, ending]
  rfl

theorem keyCodec_iff_example :
    (RoundTrips .sourcemaps (Bytes.ascii "https://api.example.com") zeros (keyFor (Bytes.ascii "https://api.example.com")) ↔
      FitsKey .sourcemaps (Bytes.ascii "https://api.example.com")) ∧
    (canonicalIngestURL (Bytes.ascii "https://api.example.com") = .ok (Bytes.ascii "https://api.example.com") ↔
      NamesPlainHost (Bytes.ascii "https://Api.Example.com:443/")) :=
  keyCodec_iff (newProjectKey_canonical (by decide +kernel) (by decide)) (by decide +kernel)

/-- A URL of 508 bytes, whose host is 500 signs. -/
def signs : Bytes := Bytes.ascii "https://" ++ List.replicate 500 (GoStrings.byte '<')

/-- A key for a host of signs is too long to be parsed, and a host with a percent sign in it is
no canonical one. -/
theorem keyCodec_fails :
    (¬∀ scope endpoint random now minted, newProjectKey scope endpoint random now = .ok minted →
      RoundTrips scope endpoint random minted) ∧
    ¬∀ raw canonical, canonicalIngestURL raw = .ok canonical → canonicalIngestURL canonical = .ok canonical := by
  have accepted : canonicalIngestURL signs = .ok signs := by decide +kernel
  have long : ¬(GoJson.quote signs).length ≤ longestQuotedURL := by decide +kernel
  have decoded : canonicalIngestURL (Bytes.ascii "https://a%25b.com") = .ok (Bytes.ascii "https://a%b.com") := by
    decide +kernel
  have refused : canonicalIngestURL (Bytes.ascii "https://a%b.com") ≠ .ok (Bytes.ascii "https://a%b.com") := by
    decide +kernel
  refine ⟨fun all => ?_, fun all => refused (all _ _ decoded)⟩
  have trip := all _ _ _ _ _ (newProjectKey_canonical accepted (by decide))
  exact long ((roundTrips_sourcemaps accepted (if_pos accepted)).mp trip)

end Opslane.Auth
